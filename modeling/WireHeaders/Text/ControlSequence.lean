/-!
# Control sequences of terminals

Text for a terminal may hold characters that are not shown but tell the terminal what to do: a
single control character, or an escape character and what belongs to it.

## Main definitions

* `ControlSequence.Place` — where in a sequence a terminal is
* `ControlSequence.Place.next` — the place behind one more character
* `ControlSequence.Terminal` and `ControlSequence.Terminal.step` — a terminal that reads a text
* `ControlSequence.strip` — the part of a text that is shown

## Design notes

**Five kinds of sequences.**  An escape sequence ends with its first character that is not
intermediate; a control sequence has parameters before that.  A device control begins like a
control sequence and goes on with data.  A system command ends with a bell, and any other message
with the string terminator.  The escape character begins a new sequence everywhere, and the two
characters that cancel a sequence do so everywhere.

**Blanks inside a sequence.**  A line feed or a tab inside an escape or control sequence is shown
at once, and so is all text behind it; at the next control character the sequence goes on.
-/

namespace WireHeaders.ControlSequence

/-- **How much of a control sequence was read** before its end. -/
inductive Part where
  | opening
  | parameters
  | intermediates
  /-- The sequence is malformed: it is read to its end and has no effect. -/
  | malformed
  deriving DecidableEq, Repr

/-- **Where in a sequence a terminal is.**  Nothing else is remembered of a sequence, so its
parameters and its data have no effect on what is shown behind it. -/
inductive Place where
  /-- In none. -/
  | ground
  | escape
  | escapeIntermediates
  /-- In a control sequence. -/
  | control (part : Part)
  /-- Before the data of a device control. -/
  | device (part : Part)
  /-- In the data of a device control. -/
  | deviceData
  | systemCommand
  /-- In a message without a meaning for the terminal. -/
  | message
  deriving DecidableEq, Repr

/-- What ends a sequence: a letter or another sign behind the digits. -/
def isFinal (c : Char) : Bool := '@' ≤ c && c ≤ '~'

/-- What stands between the parameters of a sequence and its end. -/
def isIntermediate (c : Char) : Bool := ' ' ≤ c && c ≤ '/'

def isParameter (c : Char) : Bool := '0' ≤ c && c ≤ '?'

/-- What parameters consist of that are not private. -/
def isPublicParameter (c : Char) : Bool := '0' ≤ c && c ≤ ';'

/-- The part of a sequence that another character before its end leads to, with the given
characters for further parameters. -/
def Part.next (further : Char → Bool) (c : Char) : Part → Part
  | opening =>
    if isIntermediate c then intermediates else if isParameter c then parameters else opening
  | parameters =>
    if isIntermediate c then intermediates
    else if isParameter c && !further c then malformed
    else parameters
  | intermediates => if isParameter c then malformed else intermediates
  | malformed => malformed

/-- Whether a character holds the string terminator as one of its bytes. -/
def holdsTerminator (c : Char) : Bool := (String.utf8EncodeChar c).contains 0x9C

/-- **The place behind one more character.** -/
def Place.next (c : Char) (place : Place) : Place :=
  if c = '\x18' || c = '\x1a' then ground
  else if c = '\x1b' then escape
  else
    match place with
    | ground => ground
    | escape =>
      if isIntermediate c then escapeIntermediates
      else if c = '[' then control .opening
      else if c = ']' then systemCommand
      else if c = 'P' then device .opening
      else if c = 'X' || c = '^' || c = '_' then message
      else if '0' ≤ c && c ≤ '~' then ground
      else escape
    | escapeIntermediates => if '0' ≤ c && c ≤ '~' then ground else escapeIntermediates
    | control part => if isFinal c then ground else control (part.next isPublicParameter c)
    -- A device control that is malformed is read up to the end of its data.
    | device .malformed => if holdsTerminator c then ground else device .malformed
    | device part =>
      if isFinal c then deviceData
      else device (part.next (fun c => isPublicParameter c && c ≠ ':') c)
    | deviceData => if holdsTerminator c then ground else deviceData
    | systemCommand => if c = '\x07' then ground else systemCommand
    | message => if holdsTerminator c then ground else message

/-- Control characters that move on by a blank or a line. -/
def isControlBlank (c : Char) : Bool := c = '\t' || c = '\n' || c = '\x0c' || c = '\r'

/-- What is shown where no sequence is open. -/
def isShown (c : Char) : Bool := (' ' ≤ c && c ≠ '\x7f') || isControlBlank c

/-- What is shown at a place. -/
def Place.shows (c : Char) : Place → Bool
  | ground => isShown c
  | escape | escapeIntermediates | control _ => isControlBlank c
  | device _ | deviceData | systemCommand | message => false

/-- **A terminal that reads a text.**  It remembers whether it is showing text, for as long as it
does an open sequence does not go on. -/
structure Terminal where
  place : Place
  /-- Whether the last character was shown. -/
  showing : Bool
  deriving DecidableEq, Repr

namespace Terminal

def initial : Terminal := ⟨.ground, false⟩

/-- **One character.**  Text behind shown text is shown, whatever sequence is still open; a
character outside ASCII among it ends that sequence. -/
def step (t : Terminal) (c : Char) : Terminal :=
  if t.showing && isShown c then ⟨if c.toNat < 0x80 then t.place else .ground, true⟩
  else ⟨t.place.next c, t.place.shows c⟩

/-- What is shown of a text. -/
def shownFrom (t : Terminal) : List Char → List Char
  | [] => []
  | c :: rest =>
    let t := t.step c
    if t.showing then c :: t.shownFrom rest else t.shownFrom rest

end Terminal

/-- **The part of a text that is shown.**  It is what a terminal would print of the text, with
blanks and line ends but without anything else that acts on the terminal. -/
def strip (text : String) : String := String.ofList (Terminal.initial.shownFrom text.toList)

end WireHeaders.ControlSequence
