import WireHeaders.Log.Event
import WireHeaders.Log.FieldValue
import WireHeaders.Text.Character

/-!
# Log rules

A rule gives a level to the events that it holds for.  Its text is a level, a target, or a target
with a level behind an equals sign.  Brackets behind the target ask for more: for a span by its
name, for a field between braces, or for both.

## Main definitions

* `LogRule` — a rule
* `LogRule.holdsFor`, `LogRule.outweighs` — what it holds for, and which of two rules counts
* `RuleFault` — why a text is no rule
* `LogRule.ofText` — a rule from its text

## Design notes

**Places.**  The parts of a rule are looked for in its text without the blanks around it, and then
cut out of the text with its blanks, at the same distances in bytes from the start.  So a blank
behind a level or a target belongs to it, and a blank before a rule moves all its parts: what is cut
out for a level then holds the equals sign and is none.

**Spans.**  Nothing here happens inside a span, so a rule for one holds for no event, and so does a
rule for the value of a field, which is only known of spans.  Such a value must still be one that can
be asked for.
-/

namespace WireHeaders

/-- **A rule for the events of a log.**  Whatever a rule does not ask for may be anything, so a
rule that only has a level holds for every event. -/
structure LogRule where
  /-- What targets must begin with; nothing for all targets. -/
  target : Option String
  /-- A field that events must have. -/
  field : Option String
  /-- Whether it is for spans, or what happens in them, only. -/
  spansOnly : Bool
  /-- The rank of the least important level shown; zero if nothing is shown. -/
  rank : Nat
  deriving DecidableEq, Repr

/-- **Why a text is no rule.**  The two reasons differ in what they lead to: a malformed rule is a
setting that counts for nothing, a cut character stops the command. -/
inductive RuleFault where
  | malformed
  /-- A part of it would begin or end inside a character. -/
  | cutsCharacter
  deriving DecidableEq, Repr

/-- Whether an event has a field; its message counts as one. -/
def Event.hasField (event : Event) (name : String) : Bool :=
  name = "message" || event.fields.any fun f => f.1 == name

namespace LogRule

/-- **Whether a rule holds for an event.**  A rule for spans never does, since nothing here happens
inside one; a target is matched by how it begins. -/
def holdsFor (rule : LogRule) (event : Event) : Bool :=
  !rule.spansOnly && rule.target.all (fun start => start.toList.isPrefixOf event.target.toList) &&
    rule.field.all event.hasField

/-- How much a rule says about the targets that it holds for. -/
def weight (rule : LogRule) : Nat :=
  match rule.target with
  | none => 0
  | some start => start.length + 1

/-- **Whether a rule counts rather than an earlier one** that holds for the same event: if its
target is longer, or else if it asks for a field and the other one for none, or for one that comes
first by name, or if both ask for the same. -/
def outweighs (rule earlier : LogRule) : Bool :=
  if rule.weight ≠ earlier.weight then earlier.weight < rule.weight
  else
    match rule.field, earlier.field with
    | _, none => true
    | none, some _ => false
    | some name, some other => other ≤ name

/-! ## Levels -/

def number? (word : List Char) : Option Nat :=
  let digits := match word with
    | '+' :: rest => rest
    | _ => word
  if digits.isEmpty || !digits.all Char.isDigit then none
  else some (digits.foldl (fun n c => 10 * n + (c.toNat - '0'.toNat)) 0)

/-- The rank of a level by its name, in any case, or by its number. -/
def rankOf? (word : List Char) : Option Nat :=
  match number? word with
  | some n => if n ≤ Level.trace.rank then some n else none
  | none =>
    let name := String.ofList (word.map Char.toLower)
    if name = "off" then some 0
    else if name = "error" then some Level.error.rank
    else if name = "warn" then some Level.warn.rank
    else if name = "info" then some Level.info.rank
    else if name = "debug" then some Level.debug.rank
    else if name = "trace" then some Level.trace.rank
    else none

/-! ## Cutting -/

def byteSize (text : List Char) : Nat := (String.ofList text).utf8ByteSize

/-- A text without its first bytes, unless that leaves a part of a character. -/
def dropBytes (n : Nat) : List Char → Option (List Char)
  | [] => if n = 0 then some [] else none
  | c :: rest =>
    if n = 0 then some (c :: rest)
    else if c.utf8Size ≤ n then dropBytes (n - c.utf8Size) rest
    else none

/-- The first bytes of a text, unless they end inside a character. -/
def takeBytes (n : Nat) : List Char → Option (List Char)
  | [] => if n = 0 then some [] else none
  | c :: rest =>
    if n = 0 then some []
    else if c.utf8Size ≤ n then (takeBytes (n - c.utf8Size) rest).map (c :: ·)
    else none

/-- The bytes of a text from one place up to another one. -/
def cut (text : List Char) (first last : Nat) : Except RuleFault (List Char) :=
  match (dropBytes first text).bind (takeBytes (last - first)) with
  | some part => .ok part
  | none => .error .cutsCharacter

/-- The bytes of a text from one place on. -/
def cutFrom (text : List Char) (first : Nat) : Except RuleFault (List Char) :=
  match dropBytes first text with
  | some part => .ok part
  | none => .error .cutsCharacter

/-! ## Rules -/

/-- What a rule may begin with, behind its blanks. -/
def opensRule (c : Char) : Bool :=
  Character.isAlphanumeric c || c = '-' || c = ':' || c = '_' || c = '['

def trimmed (text : List Char) : List Char :=
  ((text.dropWhile Character.isWhitespace).reverse.dropWhile Character.isWhitespace).reverse

/-- The rule of a single word, which is a level or else a target. -/
def ofWord (word : List Char) : LogRule :=
  match rankOf? word with
  | some rank => ⟨none, none, false, rank⟩
  | none => ⟨some (String.ofList word), none, false, Level.trace.rank⟩

/-- A level that begins at a place of the text and goes on to its end. -/
def levelFrom (text : List Char) (first : Nat) : Except RuleFault Nat := do
  let level ← cutFrom text first
  if level.isEmpty then return Level.trace.rank
  match rankOf? level with
  | some rank => return rank
  | none => throw .malformed

/-- What may follow the brackets of a rule: nothing, or a level. -/
def levelBehind (text rest : List Char) (first : Nat) : Except RuleFault Nat :=
  match rest with
  | [] => .ok Level.trace.rank
  | '=' :: _ => levelFrom text (first + 1)
  | _ => .error .malformed

/-- **A rule with brackets**, which are open before `inner` and before the place `first`. -/
def ofBrackets (text : List Char) (target : Option String) (inner : List Char) (first : Nat) :
    Except RuleFault LogRule := do
  let isName (c : Char) : Bool := c ≠ ']' && c ≠ '\x7b'
  let name := inner.takeWhile isName
  let last := first + byteSize name
  match inner.dropWhile isName with
  | [] => throw .malformed
  | ']' :: rest =>
    let _ ← cut text first last
    return ⟨target, none, true, ← levelBehind text rest (last + 1)⟩
  | _ :: inner =>
    let span ← cut text first last
    let content := inner.takeWhile (· ≠ '\x7d')
    let close := last + 1 + byteSize content
    match inner.dropWhile (· ≠ '\x7d') with
    | [] => throw .malformed
    | _ :: rest =>
      let field ← cut text (last + 1) close
      if field.isEmpty || !(FieldValue.ofField? field).all FieldValue.isRequest then
        throw .malformed
      match rest with
      | ']' :: rest =>
        let rank ← levelBehind text rest (close + 2)
        return ⟨target, some (String.ofList field), !span.isEmpty || '=' ∈ field, rank⟩
      | _ => throw .malformed

/-- **A rule from its text.**  The first equals sign or opening bracket decides what it is: a
target with a level, or a rule with brackets; without either it is a single word. -/
def ofText (text : List Char) : Except RuleFault LogRule := do
  let inside := trimmed text
  if !inside.head?.any opensRule then throw .malformed
  let isWord (c : Char) : Bool := c ≠ '=' && c ≠ '['
  let word := inside.takeWhile isWord
  let last := byteSize word
  match inside.dropWhile isWord with
  -- A word alone is taken with its blanks, and then it may be no level.
  | [] => return ofWord text
  | '=' :: _ =>
    let target ← cut text 0 last
    return ⟨some (String.ofList target), none, false, ← levelFrom text (last + 1)⟩
  | _ :: inner =>
    let target ← if word.isEmpty then pure none
      else do pure (some (String.ofList (← cut text 0 last)))
    ofBrackets text target inner (last + 1)

end LogRule

end WireHeaders
